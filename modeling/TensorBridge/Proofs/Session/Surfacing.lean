import TensorBridge.Proofs.Program.Runs
import TensorBridge.Proofs.Session.Refusal

/-!
# Failures of the runtime come to light

When an operation of the runtime fails, the session operation that called it does not go on as if
nothing had happened: it fails with the same error, except that a driver without a device is passed
over with a notice while there are others to try.

`Session.Surfaces` says so of an action, and it is shown along the ways in which actions are put
together.
-/

namespace TensorBridge

open Program (Item)

/-- The operation cannot fail. -/
def BackendOp.Infallible (op : BackendOp) : Prop := ∀ reply, op.failure? reply = none

namespace Session

variable {α β : Type} {tells : BridgeError → Item Backend → Prop} {trace : List (Item Backend)}

/-- A failure that the runtime reports is the failure of the action, or an item tells about it. -/
def Surfaces (tells : BridgeError → Item Backend → Prop) (x : Action Backend α) : Prop :=
  ∀ trace r, x.run.Runs trace r → ∀ op reply e, .called op reply ∈ trace →
    op.failure? reply = some e → r = .error e ∨ ∃ item ∈ trace, tells e item

lemma failure?_eq_none {p : Program Backend α} (hp : p.Confined BackendOp.Infallible) {a : α}
    (run : p.Runs trace a) {op : BackendOp} {reply : op.Reply} (hmem : .called op reply ∈ trace) :
    op.failure? reply = none :=
  hp.of_runs run hmem reply

namespace Surfaces

lemma of_confined {x : Action Backend α} (hx : x.Confined BackendOp.Infallible) :
    Surfaces tells x := by
  intro trace r run op reply e hmem he
  rw [failure?_eq_none hx run hmem] at he
  cases he

lemma pure (a : α) : Surfaces tells (pure a : Action Backend α) := of_confined (.pure a)

lemma throw (e : BridgeError) : Surfaces tells (throw e : Action Backend α) :=
  of_confined (.throw e)

/-- A single call whose failure is passed on. -/
lemma call {op : BackendOp} {result : op.Reply → Except BridgeError α}
    (h : ∀ reply e, op.failure? reply = some e → result reply = .error e) :
    Surfaces tells (.ofProgram (.call (I := Backend) op fun reply => .done (result reply))) := by
  intro trace r run op' reply' e hmem he
  obtain ⟨reply, rest, rfl, hrest⟩ := Program.runs_call_iff.1 run
  obtain ⟨rfl, rfl⟩ := Program.runs_done_iff.1 hrest
  rw [List.mem_singleton] at hmem
  cases hmem
  exact .inl (h reply e he)

lemma bind {x : Action Backend α} {f : α → Action Backend β} (hx : Surfaces tells x)
    (hf : ∀ a, Surfaces tells (f a)) : Surfaces tells (x >>= f) := by
  intro trace r run op reply e hmem he
  rcases Action.runs_bind_iff.1 run with
    ⟨e', rfl, hfirst⟩ | ⟨first, second, a, rfl, hfirst, hsecond⟩
  · rcases hx _ _ hfirst op reply e hmem he with heq | htold
    · cases heq
      exact .inl rfl
    · exact .inr htold
  · rcases List.mem_append.1 hmem with hmem | hmem
    · rcases hx _ _ hfirst op reply e hmem he with heq | ⟨item, hitem, htold⟩
      · cases heq
      · exact .inr ⟨item, List.mem_append_left _ hitem, htold⟩
    · rcases hf a _ _ hsecond op reply e hmem he with heq | ⟨item, hitem, htold⟩
      · exact .inl heq
      · exact .inr ⟨item, List.mem_append_right _ hitem, htold⟩

lemma andThen {x : Action Backend α} (hx : Surfaces tells x) {release : Program Backend Unit}
    (hrelease : release.Confined BackendOp.Infallible) : Surfaces tells (x.andThen release) := by
  intro trace r run op reply e hmem he
  obtain ⟨first, second, rfl, hfirst, hsecond⟩ := Action.runs_andThen_iff.1 run
  rcases List.mem_append.1 hmem with hmem | hmem
  · rcases hx _ _ hfirst op reply e hmem he with heq | ⟨item, hitem, htold⟩
    · exact .inl heq
    · exact .inr ⟨item, List.mem_append_left _ hitem, htold⟩
  · rw [failure?_eq_none hrelease hsecond hmem] at he
    cases he

lemma onFailure {x : Action Backend α} (hx : Surfaces tells x) {release : Program Backend Unit}
    (hrelease : release.Confined BackendOp.Infallible) : Surfaces tells (x.onFailure release) := by
  intro trace r run op reply e hmem he
  rcases Action.runs_onFailure_iff.1 run with
    ⟨a, rfl, hfirst⟩ | ⟨e', first, second, rfl, rfl, hfirst, hsecond⟩
  · exact hx _ _ hfirst op reply e hmem he
  · rcases List.mem_append.1 hmem with hmem | hmem
    · rcases hx _ _ hfirst op reply e hmem he with heq | ⟨item, hitem, htold⟩
      · exact .inl heq
      · exact .inr ⟨item, List.mem_append_left _ hitem, htold⟩
    · rw [failure?_eq_none hrelease hsecond hmem] at he
      cases he

end Surfaces

/-! ## Making a session -/

/-- The item is a notice that a driver was passed over for an error. -/
def PassedOver (e : BridgeError) (item : Item Backend) : Prop :=
  ∃ driver next, item = .noted (.driverUnavailable driver next e)

lemma confined_infallible {op : BackendOp} (h : op.Infallible) :
    (Program.perform (I := Backend) op).Confined BackendOp.Infallible := .perform h

lemma surfaces_createDevice (inst : Handle .runtimeInstance) (driver : String) :
    Surfaces tells (.ofProgram (Backend.createDevice inst driver)) :=
  .call fun _ _ => errorOf?_eq_some_iff.1

lemma selectDevice_surfaces (inst : Handle .runtimeInstance) (drivers : List String) :
    Surfaces PassedOver (selectDevice inst drivers) := by
  induction drivers with
  | nil => exact .throw _
  | cons driver rest ih =>
    cases rest with
    | nil => exact .bind (surfaces_createDevice inst driver) fun _ => .pure _
    | cons next rest =>
      intro trace r run op reply e hmem he
      obtain ⟨_, later, device, rfl, hfirst, hlater⟩ := Program.runs_bind_iff.1 run
      obtain rfl := Program.runs_perform_iff.1 hfirst
      cases device with
      | ok device =>
        obtain ⟨rfl, rfl⟩ := Program.runs_done_iff.1 hlater
        rw [List.append_nil, List.mem_singleton] at hmem
        cases hmem
        cases he
      | error e' =>
        obtain ⟨_, last, _, rfl, hnote, hlast⟩ := Program.runs_bind_iff.1 hlater
        obtain rfl := Program.runs_notify_iff.1 hnote
        simp only [List.singleton_append, List.mem_cons, reduceCtorEq, false_or] at hmem
        rcases hmem with hmem | hmem
        · cases hmem
          cases he
          exact .inr ⟨_, by simp, driver, next, rfl⟩
        · rcases ih _ _ hlast op reply e hmem he with heq | ⟨item, hitem, htold⟩
          · exact .inl heq
          · exact .inr ⟨item, by simp [hitem], htold⟩

/-- **A failure while a session is made** is the failure of the attempt, unless a driver was passed
over. -/
theorem create_surfaces (description : String) (image : List UInt8) (drivers : List String) :
    Surfaces PassedOver (create description image drivers) := by
  unfold create
  split
  · exact .throw _
  refine .bind (.call fun _ _ => errorOf?_eq_some_iff.1) fun inst => ?_
  refine .onFailure ?_ (confined_infallible fun _ => rfl)
  refine .bind (selectDevice_surfaces inst drivers) fun device => ?_
  refine .onFailure ?_ (confined_infallible fun _ => rfl)
  refine .bind (.call fun _ _ => errorOf?_eq_some_iff.1) fun session => ?_
  refine .onFailure ?_ (confined_infallible fun _ => rfl)
  refine .bind (.call fun _ _ => errorOf?_eq_some_iff.1) fun _ => ?_
  exact .of_confined (.bind (.always (.notify _)) fun _ => .pure _)

/-! ## Invocations and the end -/

/-- No item tells about an error. -/
def Untold (_ : BridgeError) (_ : Item Backend) : Prop := False

lemma surfaces_question {op : BackendOp} (h : op.Infallible) :
    Surfaces tells (.always (.perform (I := Backend) op)) :=
  .of_confined (.always (confined_infallible h))

lemma readOutput_surfaces (list : Handle .list) (index : Nat) :
    Surfaces tells (Marshal.readOutput list index) := by
  unfold Marshal.readOutput
  refine .bind (surfaces_question fun _ => rfl) fun view => ?_
  cases view with
  | none => exact .throw _
  | some view =>
    refine .bind (surfaces_question fun _ => rfl) fun code => ?_
    refine .bind (.of_confined trivial) fun _ => ?_
    refine .bind (surfaces_question fun _ => rfl) fun dims => ?_
    refine .bind (.of_confined trivial) fun _ => ?_
    refine .bind (.of_confined trivial) fun shape => ?_
    refine .bind (surfaces_question fun _ => rfl) fun length => ?_
    refine .bind (.of_confined trivial) fun _ => ?_
    exact .bind (.call fun _ _ => errorOf?_eq_some_iff.1) fun _ => .pure _

lemma readFrom_surfaces (list : Handle .list) (index count : Nat) :
    Surfaces tells (Marshal.readFrom list index count) := by
  induction count generalizing index with
  | zero => exact .pure []
  | succ count ih =>
    exact .bind (readOutput_surfaces list index) fun _ => .bind (ih (index + 1)) fun _ => .pure _

lemma readOutputs_surfaces (list : Handle .list) : Surfaces tells (Marshal.readOutputs list) := by
  unfold Marshal.readOutputs
  refine .bind (surfaces_question fun _ => rfl) fun count => ?_
  split
  · exact .bind (.throw _) fun _ => readFrom_surfaces list 0 count
  · exact readFrom_surfaces list 0 count

lemma pushInputs_surfaces (session : Handle .session) (list : Handle .list)
    (inputs : List Tensor) : Surfaces tells (Marshal.pushInputs session list inputs) := by
  induction inputs with
  | nil => exact .pure ()
  | cons t rest ih =>
    unfold Marshal.pushInputs Marshal.pushInput
    refine .bind (.bind (.call fun _ _ => errorOf?_eq_some_iff.1) fun view => ?_) fun _ => ih
    exact .call fun _ _ => errorOf?_eq_some_iff.1

lemma callEntry_surfaces (session : Handle .session) (entry : String) (inputs : List Tensor) :
    Surfaces tells (callEntry session entry inputs) := by
  unfold callEntry exchange
  refine .bind (.call fun _ _ => errorOf?_eq_some_iff.1) fun inputList => ?_
  refine .andThen ?_ (confined_infallible fun _ => rfl)
  refine .bind (.call fun _ _ => errorOf?_eq_some_iff.1) fun outputList => ?_
  refine .andThen ?_ (confined_infallible fun _ => rfl)
  refine .bind (pushInputs_surfaces session inputList inputs) fun _ => ?_
  refine .bind (.call fun _ _ => errorOf?_eq_some_iff.1) fun _ => ?_
  exact readOutputs_surfaces outputList

/-- **A failure during an invocation** is its result. -/
theorem invoke_surfaces {s : Session} {entry : String} {inputs : List Tensor}
    {result : Except BridgeError (List Tensor) × Session}
    (run : (s.invoke entry inputs).Runs trace result) {op : BackendOp} {reply : op.Reply}
    {e : BridgeError} (hmem : .called op reply ∈ trace) (he : op.failure? reply = some e) :
    result.1 = .error e := by
  unfold invoke at run
  split at run
  · obtain ⟨rfl, -⟩ := Program.runs_done_iff.1 run
    cases hmem
  · obtain ⟨first, _, r, rfl, hcall, hdone⟩ := Program.runs_bind_iff.1 run
    have hsurfaces : Surfaces Untold (callEntry s.session entry inputs) :=
      callEntry_surfaces s.session entry inputs
    cases r with
    | ok results =>
      obtain ⟨rfl, rfl⟩ := Program.runs_done_iff.1 hdone
      rw [List.append_nil] at hmem
      rcases hsurfaces _ _ hcall op reply e hmem he with heq | ⟨_, -, htold⟩
      · cases heq
      · exact htold.elim
    | error e' =>
      obtain ⟨rfl, rfl⟩ := Program.runs_done_iff.1 hdone
      rw [List.append_nil] at hmem
      rcases hsurfaces _ _ hcall op reply e hmem he with heq | ⟨_, -, htold⟩
      · cases heq
        rfl
      · exact htold.elim

lemma destroy_infallible (s : Session) : s.destroy.Confined BackendOp.Infallible := by
  unfold destroy
  refine .bind (confined_infallible fun _ => rfl) fun _ => ?_
  exact .bind (confined_infallible fun _ => rfl) fun _ => confined_infallible fun _ => rfl

end Session

end TensorBridge
