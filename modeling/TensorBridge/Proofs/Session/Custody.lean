import Mathlib
import TensorBridge.Proofs.Session.Arguments
import TensorBridge.Proofs.Session.History

/-!
# Handles in custody

Which handles are held while sessions work, and for whom.  Instances, devices and native sessions
are held for a session; lists and the views that are uploaded are held for one invocation.  A
handle is held from the reply that hands it out to the call that gives it back.  The views in a
list of results are not held: they are on loan from the list until the list is given back.

`Custody.watch` keeps these books and allows an operation only if every handle that it is given is
held for the one who asks, and every view that it looks at is on loan to the invocation.  The books
count: nothing is assumed about the addresses that the runtime hands out.

`Session.create_keeps`, `Session.invoke_keeps` and `Session.destroy_keeps` tell what the three
operations do to the books, and `Session.custody_keeper` that together they hold three handles for
every session alive and nothing else.
-/

namespace TensorBridge

/-- A handle of any kind. -/
structure AnyHandle where
  /-- The kind. -/
  kind : Resource
  /-- The address. -/
  address : Nat
deriving DecidableEq, Repr

/-- A handle without its kind in the type. -/
def Handle.any {kind : Resource} (h : Handle kind) : AnyHandle := ⟨kind, h.address⟩

@[simp] lemma Handle.any_kind {kind : Resource} (h : Handle kind) : h.any.kind = kind := rfl

@[simp] lemma Handle.any_inj {kind : Resource} {h h' : Handle kind} : h.any = h'.any ↔ h = h' := by
  cases h
  cases h'
  simp [Handle.any]

namespace BackendOp

/-- The handles that an operation is given and that have to be held for it. -/
def passed : BackendOp → List AnyHandle
  | createInstance | createList _ => []
  | releaseInstance inst | createDevice inst _ => [inst.any]
  | releaseDevice device => [device.any]
  | createSession inst device => [inst.any, device.any]
  | releaseSession session | appendModule session _ | uploadView session .. => [session.any]
  | releaseList list | listLength list | viewAt list _ => [list.any]
  | pushView list view => [list.any, view.any]
  | call session _ inputs outputs => [session.any, inputs.any, outputs.any]
  | viewDims _ | viewCode _ | viewByteLength _ | readView .. => []

/-- The view on loan that an operation looks at. -/
def looksAt? : BackendOp → Option (Handle .view)
  | viewDims view | viewCode view | viewByteLength view | readView view _ => some view
  | _ => none

/-- The handle that an operation gives back or uses up. -/
def givesBack? : BackendOp → Option AnyHandle
  | releaseInstance inst => some inst.any
  | releaseDevice device => some device.any
  | releaseSession session => some session.any
  | releaseList list => some list.any
  | pushView _ view => some view.any
  | _ => none

/-- The handle that a reply hands out. -/
def obtains? : (op : BackendOp) → op.Reply → Option AnyHandle
  | createInstance, .ok inst => some inst.any
  | createDevice .., .ok device => some device.any
  | createSession .., .ok session => some session.any
  | createList _, .ok list => some list.any
  | uploadView .., .ok view => some view.any
  | _, _ => none

/-- The view that a reply lends, with the list that it is lent from. -/
def lends? : (op : BackendOp) → op.Reply → Option (Handle .list × Handle .view)
  | viewAt list _, some view => some (list, view)
  | _, _ => none

lemma mem_passed_of_givesBack? {op : BackendOp} {h : AnyHandle} (hop : op.givesBack? = some h) :
    h ∈ op.passed := by
  cases op <;> cases hop <;> simp [passed]

lemma givesBack?_eq_none_of_obtains? {op : BackendOp} {reply : op.Reply} {h : AnyHandle}
    (hop : op.obtains? reply = some h) : op.givesBack? = none := by
  cases op <;> first | rfl | cases hop

end BackendOp

/-- For whom a handle is held. -/
inductive Holder where
  /-- For a session. -/
  | session (number : Nat)
  /-- For a single operation. -/
  | operation (number : Nat)
deriving DecidableEq, Repr

/-- For whom handles of a kind are held. -/
def Session.Stamp.holder (stamp : Session.Stamp) : Resource → Holder
  | .list | .view => .operation stamp.operation
  | .runtimeInstance | .device | .session => .session stamp.session

/-- The books about handles. -/
structure Custody where
  /-- The handles that are held, each with the one for whom it is. -/
  held : Multiset (Holder × AnyHandle) := 0
  /-- The views on loan, each with the operation and the list. -/
  lent : List (Nat × Handle .list × Handle .view) := []

namespace Custody

open Session (Stamp Alive)

/-- A handle leaves the books. -/
def remove (c : Custody) (stamp : Stamp) (h : AnyHandle) : Custody where
  held := c.held.erase (stamp.holder h.kind, h)
  lent := c.lent.filter fun loan => loan.2.1.any ≠ h

/-- A handle enters the books. -/
def add (c : Custody) (stamp : Stamp) (h : AnyHandle) : Custody :=
  { c with held := (stamp.holder h.kind, h) ::ₘ c.held }

/-- A view is lent. -/
def lend (c : Custody) (stamp : Stamp) (list : Handle .list) (view : Handle .view) : Custody :=
  { c with lent := (stamp.operation, list, view) :: c.lent }

/-- The watch over handles. -/
def watch (stamp : Stamp) : Watch Backend Custody where
  Allows c op :=
    (∀ h ∈ op.passed, (stamp.holder h.kind, h) ∈ c.held) ∧
      ∀ view ∈ op.looksAt?, ∃ list, (stamp.operation, list, view) ∈ c.lent
  Expects _ _ _ := True
  after c op reply :=
    let c := (op.givesBack?.map (c.remove stamp)).getD c
    let c := ((op.obtains? reply).map (c.add stamp)).getD c
    ((op.lends? reply).map fun loan => c.lend stamp loan.1 loan.2).getD c

@[simp] lemma held_add (c : Custody) (stamp : Stamp) (h : AnyHandle) :
    (c.add stamp h).held = (stamp.holder h.kind, h) ::ₘ c.held := rfl

@[simp] lemma held_remove (c : Custody) (stamp : Stamp) (h : AnyHandle) :
    (c.remove stamp h).held = c.held.erase (stamp.holder h.kind, h) := rfl

@[simp] lemma held_lend (c : Custody) (stamp : Stamp) (list : Handle .list)
    (view : Handle .view) : (c.lend stamp list view).held = c.held := rfl

@[simp] lemma lent_add (c : Custody) (stamp : Stamp) (h : AnyHandle) :
    (c.add stamp h).lent = c.lent := rfl

@[simp] lemma lent_remove (c : Custody) (stamp : Stamp) (h : AnyHandle) :
    (c.remove stamp h).lent = c.lent.filter fun loan => loan.2.1.any ≠ h := rfl

@[simp] lemma lent_lend (c : Custody) (stamp : Stamp) (list : Handle .list)
    (view : Handle .view) :
    (c.lend stamp list view).lent = (stamp.operation, list, view) :: c.lent := rfl

/-- The books about handles take any reply. -/
lemma admitsAll (c : Custody) (trace : List (Session.Entry Backend)) :
    Watch.AdmitsAll watch c trace :=
  Watch.throughout_of_forall fun e _ _ => by rcases e with ⟨stamp, _ | _⟩ <;> trivial

/-! ## The operations of the runtime -/

section Operations

open Backend

variable {stamp : Stamp} {c : Custody} {bad : BridgeError → Custody → Prop}

lemma createInstance_meets {ok : Handle .runtimeInstance → Custody → Prop}
    (hok : ∀ inst, ok inst (c.add stamp inst.any)) (hbad : ∀ e, bad e c) :
    createInstance.Meets (watch stamp) c ok bad := by
  refine ⟨⟨by simp [BackendOp.passed], by simp [BackendOp.looksAt?]⟩, fun r _ => ?_⟩
  cases r with
  | ok inst => exact hok inst
  | error e => exact hbad e

lemma createDevice_keeps {inst : Handle .runtimeInstance} {driver : String}
    {Q : Except BridgeError (Handle .device) → Custody → Prop}
    (hinst : (stamp.holder .runtimeInstance, inst.any) ∈ c.held)
    (hok : ∀ device, Q (.ok device) (c.add stamp device.any)) (hbad : ∀ e, Q (.error e) c) :
    (createDevice inst driver).Keeps (watch stamp) c Q := by
  refine ⟨⟨by simpa [BackendOp.passed] using hinst, by simp [BackendOp.looksAt?]⟩,
    fun r _ => ?_⟩
  cases r with
  | ok device => exact hok device
  | error e => exact hbad e

lemma createSession_meets {inst : Handle .runtimeInstance} {device : Handle .device}
    {ok : Handle .session → Custody → Prop}
    (hinst : (stamp.holder .runtimeInstance, inst.any) ∈ c.held)
    (hdevice : (stamp.holder .device, device.any) ∈ c.held)
    (hok : ∀ session, ok session (c.add stamp session.any)) (hbad : ∀ e, bad e c) :
    (createSession inst device).Meets (watch stamp) c ok bad := by
  refine ⟨⟨by simp [BackendOp.passed, hinst, hdevice], by simp [BackendOp.looksAt?]⟩,
    fun r _ => ?_⟩
  cases r with
  | ok session => exact hok session
  | error e => exact hbad e

lemma appendModule_meets {session : Handle .session} {image : List UInt8}
    {ok : Unit → Custody → Prop} (hsession : (stamp.holder .session, session.any) ∈ c.held)
    (hok : ok () c) (hbad : ∀ e, bad e c) :
    (appendModule session image).Meets (watch stamp) c ok bad := by
  refine ⟨⟨by simpa [BackendOp.passed] using hsession, by simp [BackendOp.looksAt?]⟩,
    fun r _ => ?_⟩
  cases r with
  | ok _ => exact hok
  | error e => exact hbad e

lemma createList_meets {capacity : Nat} {ok : Handle .list → Custody → Prop}
    (hok : ∀ list, ok list (c.add stamp list.any)) (hbad : ∀ e, bad e c) :
    (createList capacity).Meets (watch stamp) c ok bad := by
  refine ⟨⟨by simp [BackendOp.passed], by simp [BackendOp.looksAt?]⟩, fun r _ => ?_⟩
  cases r with
  | ok list => exact hok list
  | error e => exact hbad e

lemma uploadView_meets {session : Handle .session} {dims : List UInt64} {code : UInt32}
    {data : List UInt8} {ok : Handle .view → Custody → Prop}
    (hsession : (stamp.holder .session, session.any) ∈ c.held)
    (hok : ∀ view, ok view (c.add stamp view.any)) (hbad : ∀ e, bad e c) :
    (uploadView session dims code data).Meets (watch stamp) c ok bad := by
  refine ⟨⟨by simpa [BackendOp.passed] using hsession, by simp [BackendOp.looksAt?]⟩,
    fun r _ => ?_⟩
  cases r with
  | ok view => exact hok view
  | error e => exact hbad e

/-- A push uses the view up whether it succeeds or not. -/
lemma pushView_meets {list : Handle .list} {view : Handle .view} {ok : Unit → Custody → Prop}
    (hlist : (stamp.holder .list, list.any) ∈ c.held)
    (hview : (stamp.holder .view, view.any) ∈ c.held) (hok : ok () (c.remove stamp view.any))
    (hbad : ∀ e, bad e (c.remove stamp view.any)) :
    (pushView list view).Meets (watch stamp) c ok bad := by
  refine ⟨⟨by simp [BackendOp.passed, hlist, hview], by simp [BackendOp.looksAt?]⟩,
    fun r _ => ?_⟩
  cases r with
  | ok _ => exact hok
  | error e => exact hbad e

lemma call_meets {session : Handle .session} {entry : String} {inputs outputs : Handle .list}
    {ok : Unit → Custody → Prop} (hsession : (stamp.holder .session, session.any) ∈ c.held)
    (hinputs : (stamp.holder .list, inputs.any) ∈ c.held)
    (houtputs : (stamp.holder .list, outputs.any) ∈ c.held) (hok : ok () c)
    (hbad : ∀ e, bad e c) :
    (call session entry inputs outputs).Meets (watch stamp) c ok bad := by
  refine ⟨⟨by simp [BackendOp.passed, hsession, hinputs, houtputs],
    by simp [BackendOp.looksAt?]⟩, fun r _ => ?_⟩
  cases r with
  | ok _ => exact hok
  | error e => exact hbad e

lemma listLength_meets {list : Handle .list} {ok : Nat → Custody → Prop}
    (hlist : (stamp.holder .list, list.any) ∈ c.held) (hok : ∀ count, ok count c) :
    (listLength list).Meets (watch stamp) c ok bad :=
  Action.meets_always.2 ⟨⟨by simpa [BackendOp.passed] using hlist,
    by simp [BackendOp.looksAt?]⟩, fun count _ => hok count⟩

lemma viewAt_meets {list : Handle .list} {index : Nat}
    {ok : Option (Handle .view) → Custody → Prop}
    (hlist : (stamp.holder .list, list.any) ∈ c.held) (hnone : ok none c)
    (hsome : ∀ view, ok (some view) (c.lend stamp list view)) :
    (viewAt list index).Meets (watch stamp) c ok bad := by
  refine Action.meets_always.2 ⟨⟨by simpa [BackendOp.passed] using hlist,
    by simp [BackendOp.looksAt?]⟩, fun r _ => ?_⟩
  cases r with
  | none => exact hnone
  | some view => exact hsome view

/-- The operations that give a handle back and are given no other. -/
lemma keeps_of_givesBack {op : BackendOp} {Q : op.Reply → Custody → Prop} {h : AnyHandle}
    (hop : op.givesBack? = some h) (hpassed : op.passed = [h])
    (hheld : (stamp.holder h.kind, h) ∈ c.held) (hQ : ∀ r, Q r (c.remove stamp h)) :
    (Program.perform (I := Backend) op).Keeps (watch stamp) c Q := by
  refine ⟨⟨by simpa [hpassed] using hheld, ?_⟩, fun r _ => ?_⟩
  · cases op <;> cases hop <;> simp [BackendOp.looksAt?]
  · cases op <;> cases hop <;> exact hQ r

/-- The operations that look at a view on loan. -/
lemma keeps_of_lent {op : BackendOp} {Q : op.Reply → Custody → Prop} {list : Handle .list}
    {view : Handle .view} (hlent : (stamp.operation, list, view) ∈ c.lent)
    (hop : op.looksAt? = some view)
    (h : ∀ r, Q r c) : (Program.perform (I := Backend) op).Keeps (watch stamp) c Q := by
  refine ⟨⟨?_, ?_⟩, fun r _ => ?_⟩
  · cases op <;> simp_all [BackendOp.passed, BackendOp.looksAt?]
  · rw [hop]
    rintro _ ⟨⟩
    exact ⟨list, hlent⟩
  · cases op <;> simp_all [BackendOp.looksAt?] <;> exact h r

end Operations

/-! ## The operations of a session -/

section Session

variable {stamp : Stamp} {c : Custody}

/-- Choosing a device adds it to what is held, or changes nothing. -/
lemma selectDevice_meets {inst : Handle .runtimeInstance} {drivers : List String}
    (hinst : (stamp.holder .runtimeInstance, inst.any) ∈ c.held) :
    (Session.selectDevice inst drivers).Meets (watch stamp) c
      (fun r c' => c' = c.add stamp r.1.any) (fun _ c' => c' = c) := by
  induction drivers with
  | nil => simp [Session.selectDevice]
  | cons driver rest ih =>
    cases rest with
    | nil =>
      simp only [Session.selectDevice, Action.meets_bind, Action.meets_ofProgram,
        Action.meets_pure]
      exact createDevice_keeps hinst (fun _ => rfl) (fun _ => rfl)
    | cons next rest =>
      simp only [Session.selectDevice, Action.meets_ofProgram, Program.keeps_bind]
      refine createDevice_keeps hinst (fun _ => rfl) fun e => ?_
      simpa [Program.keeps_bind, Action.Meets] using ih

lemma loadModule_meets {description : String} {image : List UInt8}
    {inst : Handle .runtimeInstance} {device : Handle .device} {driver : String}
    {session : Handle .session} {stage : Stage}
    (hsession : (stamp.holder .session, session.any) ∈ c.held) :
    (Session.loadModule description image inst device driver session stage).Meets (watch stamp) c
      (fun s c' => c' = c ∧ s = ⟨inst, device, session, driver, stage.advance, 0⟩)
      (fun _ c' => c' = c) := by
  simp only [Session.loadModule, Action.meets_bind, Action.meets_always, Program.keeps_notify,
    Action.meets_pure]
  exact appendModule_meets hsession (by simp) fun _ => rfl

end Session

end Custody

namespace Session

/-- The handles of a session, in the order in which they are given back. -/
def handles (s : Session) : List AnyHandle := [s.session.any, s.device.any, s.inst.any]

/-- What is held for a session that goes by a number. -/
def custody (number : Nat) (s : Session) : Multiset (Holder × AnyHandle) :=
  ↑(s.handles.map (Holder.session number, ·))

lemma custody_add (number : Nat) (s : Session) (held : Multiset (Holder × AnyHandle)) :
    s.custody number + held = (.session number, s.session.any) ::ₘ
      (.session number, s.device.any) ::ₘ (.session number, s.inst.any) ::ₘ held := by
  simp [custody, handles, ← Multiset.cons_coe]

section Operations

variable {stamp : Stamp} {c : Custody}

/-- The last step of a failed attempt: the instance that it made goes. -/
lemma releaseInstance_keeps {inst : Handle .runtimeInstance}
    {held : Multiset (Holder × AnyHandle)}
    (h : c.held = (stamp.holder .runtimeInstance, inst.any) ::ₘ held) :
    (Backend.releaseInstance inst).Keeps (Custody.watch stamp) c fun _ c' => c'.held = held :=
  Custody.keeps_of_givesBack rfl rfl (by simp [h]) fun _ => by simp [h]

lemma releaseDevice_keeps {device : Handle .device} {held : Multiset (Holder × AnyHandle)}
    (h : c.held = (stamp.holder .device, device.any) ::ₘ held) :
    (Backend.releaseDevice device).Keeps (Custody.watch stamp) c fun _ c' => c'.held = held :=
  Custody.keeps_of_givesBack rfl rfl (by simp [h]) fun _ => by simp [h]

lemma releaseSession_keeps {session : Handle .session} {held : Multiset (Holder × AnyHandle)}
    (h : c.held = (stamp.holder .session, session.any) ::ₘ held) :
    (Backend.releaseSession session).Keeps (Custody.watch stamp) c fun _ c' => c'.held = held :=
  Custody.keeps_of_givesBack rfl rfl (by simp [h]) fun _ => by simp [h]

lemma releaseList_keeps {list : Handle .list} {held : Multiset (Holder × AnyHandle)}
    (h : c.held = (stamp.holder .list, list.any) ::ₘ held) :
    (Backend.releaseList list).Keeps (Custody.watch stamp) c fun _ c' => c'.held = held :=
  Custody.keeps_of_givesBack rfl rfl (by simp [h]) fun _ => by simp [h]

/-- **Making a session** adds its three handles to what is held; a failed attempt adds nothing. -/
theorem create_meets {description : String} {image : List UInt8} {drivers : List String} :
    (create description image drivers).Meets (Custody.watch stamp) c
      (fun s c' => c'.held = s.custody stamp.session + c.held) (fun _ c' => c'.held = c.held) := by
  unfold create
  split
  · simp
  simp only [Action.meets_bind, Action.meets_onFailure]
  refine Custody.createInstance_meets (fun inst => ?_) (fun _ => rfl)
  refine (Custody.selectDevice_meets (by simp)).mono ?_ ?_
  -- From here on, every failure gives back what has been made so far, newest first.
  · rintro ⟨device, driver⟩ _ rfl
    refine Custody.createSession_meets (by simp) (by simp) (fun session => ?_) fun _ => ?_
    · refine (Custody.loadModule_meets (by simp)).mono ?_ ?_
      · rintro s _ ⟨rfl, rfl⟩
        simp [custody_add, Stamp.holder]
      · rintro _ _ rfl
        refine (releaseSession_keeps rfl).mono fun _ c₁ h₁ => ?_
        refine (releaseDevice_keeps h₁).mono fun _ c₂ h₂ => ?_
        exact releaseInstance_keeps h₂
    · refine (releaseDevice_keeps rfl).mono fun _ c₁ h₁ => ?_
      exact releaseInstance_keeps h₁
  · rintro _ _ rfl
    exact releaseInstance_keeps rfl

/-- **Destroying a session** takes its three handles from what is held. -/
theorem destroy_keeps {s : Session} {held : Multiset (Holder × AnyHandle)}
    (h : c.held = s.custody stamp.session + held) :
    s.destroy.Keeps (Custody.watch stamp) c fun _ c' => c'.held = held := by
  rw [custody_add] at h
  simp only [destroy, Program.keeps_bind]
  refine (releaseSession_keeps h).mono fun _ c₁ h₁ => ?_
  refine (releaseDevice_keeps h₁).mono fun _ c₂ h₂ => ?_
  exact releaseInstance_keeps h₂

end Operations

end Session

/-! ## Invocations -/

/-- The action leaves what is held as it was, whether it succeeds or fails. -/
def Custody.Balances {α : Type} (stamp : Session.Stamp) (c : Custody) (x : Action Backend α) :
    Prop :=
  x.Meets (watch stamp) c (fun _ c' => c'.held = c.held) fun _ c' => c'.held = c.held

namespace Marshal

open Custody (Balances)

variable {stamp : Session.Stamp} {c : Custody}

lemma pushInput_balances {session : Handle .session} {list : Handle .list} {tensor : Tensor}
    (hsession : (stamp.holder .session, session.any) ∈ c.held)
    (hlist : (stamp.holder .list, list.any) ∈ c.held) :
    Balances stamp c (pushInput session list tensor) := by
  simp only [Balances, pushInput, Action.meets_bind]
  refine Custody.uploadView_meets hsession (fun view => ?_) fun _ => rfl
  exact Custody.pushView_meets (by simp [hlist]) (by simp) (by simp) (by simp)

lemma pushInputs_balances {session : Handle .session} {list : Handle .list}
    {inputs : List Tensor} (hsession : (stamp.holder .session, session.any) ∈ c.held)
    (hlist : (stamp.holder .list, list.any) ∈ c.held) :
    Balances stamp c (pushInputs session list inputs) := by
  induction inputs generalizing c with
  | nil => simp [Balances, pushInputs]
  | cons tensor rest ih =>
    simp only [Balances, pushInputs, Action.meets_bind]
    refine (pushInput_balances hsession hlist).mono (fun _ c₁ h₁ => ?_) fun _ _ h => h
    -- The books have changed, but not what is held, so the hypotheses carry over.
    rw [← h₁] at hsession hlist ⊢
    exact ih hsession hlist

/-- The view that is read stays on loan from the list while it is read. -/
lemma readOutput_balances {list : Handle .list} {index : Nat}
    (hlist : (stamp.holder .list, list.any) ∈ c.held) :
    Balances stamp c (readOutput list index) := by
  simp only [Balances, readOutput, Action.meets_bind]
  refine Custody.viewAt_meets hlist (by simp) fun view => ?_
  have hlent : (stamp.operation, list, view) ∈ (c.lend stamp list view).lent := by simp
  simp only [Action.meets_bind]
  refine Action.meets_always.2 (Custody.keeps_of_lent hlent rfl fun code => ?_)
  refine liftExcept_meets (fun elementType _ => ?_) fun _ _ => rfl
  refine Action.meets_always.2 (Custody.keeps_of_lent hlent rfl fun dims => ?_)
  refine liftExcept_meets (fun _ _ => ?_) fun _ _ => rfl
  refine liftExcept_meets (fun shape _ => ?_) fun _ _ => rfl
  refine Action.meets_always.2 (Custody.keeps_of_lent hlent rfl fun length => ?_)
  refine liftExcept_meets (fun _ _ => ?_) fun _ _ => rfl
  refine Action.meets_ofProgram.2 (Custody.keeps_of_lent hlent rfl fun data => ?_)
  cases data with
  | ok data => rfl
  | error e => rfl

lemma readFrom_balances {list : Handle .list} {index count : Nat}
    (hlist : (stamp.holder .list, list.any) ∈ c.held) :
    Balances stamp c (readFrom list index count) := by
  induction count generalizing index c with
  | zero => simp [Balances, readFrom]
  | succ count ih =>
    simp only [Balances, readFrom, Action.meets_bind, Action.meets_pure]
    refine (readOutput_balances hlist).mono (fun _ c₁ h₁ => ?_) fun _ _ h => h
    rw [← h₁] at hlist ⊢
    exact ih hlist

lemma readOutputs_balances {list : Handle .list}
    (hlist : (stamp.holder .list, list.any) ∈ c.held) :
    Balances stamp c (readOutputs list) := by
  simp only [Balances, readOutputs, Action.meets_bind]
  refine Custody.listLength_meets hlist fun count => ?_
  split
  · simp
  · exact readFrom_balances hlist

end Marshal

namespace Session

open Custody (Balances)

variable {stamp : Stamp} {c : Custody}

lemma exchange_balances {session : Handle .session} {entry : String} {inputs : List Tensor}
    {inputList outputList : Handle .list}
    (hsession : (stamp.holder .session, session.any) ∈ c.held)
    (hinput : (stamp.holder .list, inputList.any) ∈ c.held)
    (houtput : (stamp.holder .list, outputList.any) ∈ c.held) :
    Balances stamp c (exchange session entry inputs inputList outputList) := by
  simp only [Balances, exchange, Action.meets_bind]
  refine (Marshal.pushInputs_balances hsession hinput).mono (fun _ c₁ h₁ => ?_) fun _ _ h => h
  rw [← h₁] at hsession hinput houtput ⊢
  refine Custody.call_meets hsession hinput houtput ?_ fun _ => rfl
  exact Marshal.readOutputs_balances houtput

/-- The two lists of an invocation are given back whatever happens. -/
lemma callEntry_balances {session : Handle .session} {entry : String} {inputs : List Tensor}
    (hsession : (stamp.holder .session, session.any) ∈ c.held) :
    Balances stamp c (callEntry session entry inputs) := by
  simp only [Balances, callEntry, Action.meets_bind, Action.meets_andThen]
  refine Custody.createList_meets (fun inputList => ?_) fun _ => rfl
  refine Custody.createList_meets (fun outputList => ?_) fun _ => releaseList_keeps rfl
  refine (exchange_balances (by simp [hsession]) (by simp) (by simp)).mono ?_ ?_
  all_goals
    intro _ c₁ h₁
    refine (releaseList_keeps h₁).mono fun _ c₂ h₂ => ?_
    exact releaseList_keeps h₂

/-- **An invocation** leaves what is held as it was, and the session its handles. -/
theorem invoke_keeps {s : Session} {entry : String} {inputs : List Tensor}
    (hsession : (stamp.holder .session, s.session.any) ∈ c.held) :
    (s.invoke entry inputs).Keeps (Custody.watch stamp) c
      fun r c' => c'.held = c.held ∧ r.2.handles = s.handles := by
  unfold invoke
  split
  · simp
  · simp only [Program.keeps_bind]
    refine Program.Keeps.mono (callEntry_balances hsession) fun r c₁ h₁ => ?_
    cases r with
    | ok results => exact ⟨h₁, rfl⟩
    | error e => exact ⟨h₁, rfl⟩

/-! ## Histories -/

/-- What is held for the sessions alive. -/
def custodyOf (live : List Alive) : Multiset (Holder × AnyHandle) :=
  (live.map fun a => a.session.custody a.number).sum

/-- The sessions alive hold what one of them holds and what the others hold. -/
lemma custodyOf_split {before after : List Alive} {a : Alive} :
    custodyOf (before ++ a :: after) =
      a.session.custody a.number + custodyOf (before ++ after) := by
  simp [custodyOf, add_left_comm]

/-- **Every operation** leaves in custody the handles of the sessions alive, and nothing else. -/
theorem custody_keeper :
    Keeper (fun _ p => p) Custody.watch fun c live => c.held = custodyOf live where
  create {c live} h n description image drivers := by
    refine Program.Keeps.mono create_meets fun r c₁ h₁ => ?_
    cases r with
    | ok s => simpa [custodyOf, opened, h] using h₁
    | error e => simpa [opened, h] using h₁
  invoke {c before after a} h n entry inputs := by
    rw [custodyOf_split] at h
    refine (invoke_keeps ?_).mono fun r c₁ h₁ => ?_
    · simp [h, custody_add, Stamp.holder]
    · rw [custodyOf_split, h₁.1, h]
      simp [custody, h₁.2]
  destroy {c before after a} h n := destroy_keeps (by rw [h, custodyOf_split])

end Session

end TensorBridge
