import Mathlib
import TensorBridge.Proofs.Native.Calls
import TensorBridge.Proofs.Session.Custody

/-!
# Native handles, made and released

Which instances, devices, sessions and lists are live while native functions are called.  A handle
is live from the call that makes it to the call that releases it; `Native.handles` keeps these books
and allows only live handles to be released.  Of the native functions nothing at all is expected.

`Native.perform_handles` tells that the program of every operation keeps the handles that are live
in step with the books of `Custody`, so what a program makes on its way to a failure is gone when it
fails.
-/

namespace TensorBridge

/-- The handle that a reply hands out: none if there is a status or no address. -/
def Produced.handle? (kind : Resource) : Produced → Option AnyHandle
  | ⟨none, some address⟩ => some ⟨kind, address⟩
  | _ => none

namespace NativeOp

/-- The instance, device, session or list that a call makes. -/
def makes? : (f : NativeOp) → f.Reply → Option AnyHandle
  | createInstance .., produced => produced.handle? .runtimeInstance
  | createDevice .., produced => produced.handle? .device
  | createSession .., produced => produced.handle? .session
  | createList .., produced => produced.handle? .list
  | _, _ => none

/-- The instance, device, session or list that a call releases. -/
def releases? : NativeOp → Option AnyHandle
  | releaseInstance inst => some ⟨.runtimeInstance, inst⟩
  | releaseDevice device => some ⟨.device, device⟩
  | releaseSession session => some ⟨.session, session⟩
  | releaseList list => some ⟨.list, list⟩
  | _ => none

lemma makes?_of_plain {f : NativeOp} (h : f.kind? = none) (reply : f.Reply) :
    f.makes? reply = none := by
  cases f <;> first | rfl | cases h

lemma releases?_of_plain {f : NativeOp} (h : f.kind? = none) : f.releases? = none := by
  cases f <;> first | rfl | cases h

end NativeOp

/-- The handles that are held and are no views. -/
def Custody.lasting (c : Custody) : Multiset AnyHandle :=
  (c.held.map Prod.snd).filter fun h => h.kind ≠ .view

namespace Custody

open Session (Stamp)

variable {c : Custody} {stamp : Stamp} {h : AnyHandle}

lemma lasting_add (hkind : h.kind ≠ .view) : (c.add stamp h).lasting = h ::ₘ c.lasting := by
  simp [lasting, hkind]

lemma lasting_add_view (hkind : h.kind = .view) : (c.add stamp h).lasting = c.lasting := by
  simp [lasting, hkind]

/-- What is held, with one of the handles that are held in front. -/
lemma lasting_eq (hheld : (stamp.holder h.kind, h) ∈ c.held) :
    c.lasting = ((c.remove stamp h).add stamp h).lasting := by
  rw [lasting, lasting, held_add, held_remove, Multiset.cons_erase hheld]

lemma lasting_remove (hheld : (stamp.holder h.kind, h) ∈ c.held) (hkind : h.kind ≠ .view) :
    c.lasting = h ::ₘ (c.remove stamp h).lasting := by
  rw [lasting_eq hheld, lasting_add hkind]

lemma lasting_remove_view (hheld : (stamp.holder h.kind, h) ∈ c.held) (hkind : h.kind = .view) :
    (c.remove stamp h).lasting = c.lasting := by
  rw [lasting_eq hheld, lasting_add_view hkind]

/-- An operation that touches nothing but views leaves what is held apart from them as it is. -/
lemma lasting_after {op : BackendOp} (hallows : (watch stamp).Allows c op) (hop : op.kind? = none)
    (reply : op.Reply) : ((watch stamp).after c op reply).lasting = c.lasting := by
  cases op with
  | uploadView session dims code data =>
    cases reply with
    | ok view => exact lasting_add_view rfl
    | error e => rfl
  | pushView list view =>
    have hview := hallows.1 view.any (by simp [BackendOp.passed])
    cases reply <;> exact lasting_remove_view hview rfl
  | viewAt list index => cases reply <;> rfl
  | createInstance | createDevice | createSession | createList => cases hop
  | releaseInstance | releaseDevice | releaseSession | releaseList => cases hop
  | _ => rfl

end Custody

namespace Native

open NativeOp (Touches)
open Session (Stamp)

/-- The watch over the handles that are live. -/
def handles : Watch Native (Multiset AnyHandle) where
  Allows live f := ∀ h ∈ f.releases?, h ∈ live
  Expects _ _ _ := True
  after live f reply := live - ↑f.releases?.toList + ↑(f.makes? reply).toList

variable {renders : Bool} {live : Multiset AnyHandle}

/-! ## Single calls -/

lemma ignores_handles : Ignores handles := fun live f hplain => by
  refine ⟨by simp [handles, NativeOp.releases?_of_plain hplain], fun reply => ?_⟩
  simp [handles, NativeOp.releases?_of_plain hplain, NativeOp.makes?_of_plain hplain]

/-- A program that makes and releases nothing. -/
lemma keeps_of_plain {α : Type} {p : Program Native α}
    (hp : p.Within (Touches none) fun _ => True) :
    p.Keeps handles live fun _ live' => live' = live :=
  keeps_of_ignores ignores_handles hp

/-- A call that releases nothing. -/
lemma keeps_handles_of_making {f : NativeOp} (hf : f.releases? = none) :
    (Program.perform (I := Native) f).Keeps handles live
      fun reply live' => live' = live + ↑(f.makes? reply).toList :=
  ⟨by simp [handles, hf], fun reply _ => by simp [handles, hf]⟩

/-- A call that hands a handle out, with the check of its status. -/
lemma obtain_handles {kind : Resource} {symbol : String} {missing : BridgeError}
    {p : Program Native Produced}
    (hp : p.Keeps handles live fun produced live' =>
      live' = live + ↑(produced.handle? kind).toList) :
    (obtain renders symbol missing p).Meets handles live
      (fun address live' => live' = ⟨kind, address⟩ ::ₘ live) fun _ live' => live' = live := by
  refine obtain_meets_of_ignores ignores_handles (hp.mono ?_)
  rintro ⟨_ | word, _ | address⟩ _ rfl
  · exact add_zero live
  · exact add_comm live {⟨kind, address⟩}
  · exact add_zero live
  · exact add_zero live

/-- A call that releases a handle. -/
lemma keeps_handles_of_release {f : NativeOp} {h : AnyHandle}
    {Q : f.Reply → Multiset AnyHandle → Prop}
    (hf : f.releases? = some h) (hmakes : ∀ reply, f.makes? reply = none)
    (hQ : ∀ reply, Q reply live) :
    (Program.perform (I := Native) f).Keeps handles (h ::ₘ live) Q := by
  refine ⟨by simp [handles, hf], fun reply _ => ?_⟩
  have hafter : handles.after (h ::ₘ live) f reply = live := by simp [handles, hf, hmakes reply]
  rw [hafter]
  exact hQ reply

/-! ## The operations of a runtime -/

/-- **Making an instance**: an attempt that fails after the instance is there releases it. -/
lemma createInstance_handles :
    (createInstance renders).Meets handles live (fun inst live' => live' = inst.any ::ₘ live)
      fun _ live' => live' = live := by
  simp only [createInstance, make, Action.meets_bind, Action.meets_always, Action.meets_onFailure,
    Action.meets_pure]
  refine (keeps_of_plain (plain_within rfl)).mono ?_
  rintro _ _ rfl
  refine (keeps_of_plain (plain_within rfl)).mono ?_
  rintro options live rfl
  refine (obtain_handles (keeps_handles_of_making rfl)).mono ?_ fun _ _ h => h
  rintro inst _ rfl
  refine Program.Keeps.mono (keeps_of_plain (registerTypes_within inst)) ?_
  rintro (e | ⟨⟩) _ rfl
  · exact keeps_handles_of_release rfl (fun _ => rfl) fun _ => rfl
  · rfl

lemma createDevice_handles (inst : Handle .runtimeInstance) (driver : String) :
    (createDevice renders inst driver).Meets handles live
      (fun device live' => live' = device.any ::ₘ live) fun _ live' => live' = live := by
  simp only [createDevice, Action.meets_bind, Action.meets_pure]
  exact obtain_handles (keeps_handles_of_making rfl)

lemma createSession_handles (inst : Handle .runtimeInstance) (device : Handle .device) :
    (createSession renders inst device).Meets handles live
      (fun session live' => live' = session.any ::ₘ live) fun _ live' => live' = live := by
  simp only [createSession, make, Action.meets_bind, Action.meets_always, Action.meets_pure]
  refine (keeps_of_plain (plain_within rfl)).mono ?_
  rintro options _ rfl
  refine (keeps_of_plain (plain_within rfl)).mono ?_
  rintro allocator live rfl
  exact obtain_handles (keeps_handles_of_making rfl)

lemma createList_handles (capacity : Nat) :
    (createList renders capacity).Meets handles live (fun list live' => live' = list.any ::ₘ live)
      fun _ live' => live' = live := by
  simp only [createList, make, Action.meets_bind, Action.meets_pure]
  exact obtain_handles (keeps_handles_of_making rfl)

/-! ## All operations -/

variable {c : Custody} {stamp : Stamp}

/-- An operation that makes a handle. -/
lemma keeps_of_attempt {kind : Resource} {p : Action Native (Handle kind)}
    {after : Except BridgeError (Handle kind) → Custody} (hkind : kind ≠ .view)
    (hp : p.Meets handles c.lasting (fun h live' => live' = h.any ::ₘ c.lasting)
      fun _ live' => live' = c.lasting)
    (hok : ∀ h, after (.ok h) = c.add stamp h.any) (hbad : ∀ e, after (.error e) = c) :
    p.run.Keeps handles c.lasting fun r live' => live' = (after r).lasting := by
  refine Program.Keeps.mono hp ?_
  rintro (e | h) _ rfl
  · rw [hbad]
  · rw [hok, Custody.lasting_add hkind]

/-- An operation that gives a handle back. -/
lemma keeps_of_return {kind : Resource} (h : Handle kind) {f : NativeOp} {after : f.Reply → Custody}
    (hkind : kind ≠ .view) (hheld : (stamp.holder kind, h.any) ∈ c.held)
    (hf : f.releases? = some h.any) (hmakes : ∀ reply, f.makes? reply = none)
    (hafter : ∀ reply, after reply = c.remove stamp h.any) :
    (Program.perform (I := Native) f).Keeps handles c.lasting
      fun reply live' => live' = (after reply).lasting := by
  rw [Custody.lasting_remove (h := h.any) hheld hkind]
  exact keeps_handles_of_release hf hmakes fun reply => by rw [hafter]

/-- **The program of every operation** keeps the handles that are live in step with the books. -/
theorem perform_handles {op : BackendOp} (hallows : (Custody.watch stamp).Allows c op) :
    (perform renders op).Keeps handles c.lasting fun reply live' =>
      live' = ((Custody.watch stamp).after c op reply).lasting := by
  by_cases hop : op.kind? = none
  · have hplain := hop ▸ perform_within (N := fun _ => True) renders op
    refine (keeps_of_plain hplain).mono ?_
    rintro reply _ rfl
    exact (Custody.lasting_after hallows hop reply).symm
  · have hheld : ∀ h ∈ op.passed, (stamp.holder h.kind, h) ∈ c.held := hallows.1
    cases op with
    | createInstance =>
      exact keeps_of_attempt nofun createInstance_handles (fun _ => rfl) fun _ => rfl
    | createDevice inst driver =>
      exact keeps_of_attempt nofun (createDevice_handles inst driver) (fun _ => rfl) fun _ => rfl
    | createSession inst device =>
      exact keeps_of_attempt nofun (createSession_handles inst device) (fun _ => rfl) fun _ => rfl
    | createList capacity =>
      exact keeps_of_attempt nofun (createList_handles capacity) (fun _ => rfl) fun _ => rfl
    | releaseInstance inst =>
      have hmem := hheld inst.any (by simp [BackendOp.passed])
      exact keeps_of_return inst nofun hmem rfl (fun _ => rfl) fun _ => rfl
    | releaseDevice device =>
      have hmem := hheld device.any (by simp [BackendOp.passed])
      exact keeps_of_return device nofun hmem rfl (fun _ => rfl) fun _ => rfl
    | releaseSession session =>
      have hmem := hheld session.any (by simp [BackendOp.passed])
      exact keeps_of_return session nofun hmem rfl (fun _ => rfl) fun _ => rfl
    | releaseList list =>
      have hmem := hheld list.any (by simp [BackendOp.passed])
      exact keeps_of_return list nofun hmem rfl (fun _ => rfl) fun _ => rfl
    | _ => exact absurd rfl hop

end Native

end TensorBridge
