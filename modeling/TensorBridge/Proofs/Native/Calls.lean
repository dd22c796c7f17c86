import Mathlib.Tactic.Common
import TensorBridge.Native.Backend
import TensorBridge.Proofs.Program.Within

/-!
# The functions that carry an operation out

Some native functions make or release handles of one kind, others none.  An operation that makes or
releases a handle is carried out by functions that do so with handles of the same kind, and by
others that do so with none; and it is carried out without a notice (`Native.perform_within`).

A watch over handles takes no interest in the other functions (`Native.Ignores`), so all that it
sees of a function that makes something is the call of this function
(`Native.obtain_meets_of_ignores`).
-/

namespace TensorBridge

/-- The kind of the handles that a function makes or releases. -/
def NativeOp.kind? : NativeOp → Option Resource
  | createInstance .. | releaseInstance _ => some .runtimeInstance
  | createDevice .. | releaseDevice _ => some .device
  | createSession .. | releaseSession _ => some .session
  | createList .. | releaseList _ => some .list
  | _ => none

/-- The kind of the handles that an operation makes or releases, apart from views. -/
def BackendOp.kind? : BackendOp → Option Resource
  | createInstance | releaseInstance _ => some .runtimeInstance
  | createDevice .. | releaseDevice _ => some .device
  | createSession .. | releaseSession _ => some .session
  | createList _ | releaseList _ => some .list
  | _ => none

/-- The function makes and releases no handles but those of a kind. -/
def NativeOp.Touches (kind : Option Resource) (f : NativeOp) : Prop :=
  f.kind? = none ∨ f.kind? = kind

namespace Native

open NativeOp (Touches)

variable {renders : Bool} {kind : Option Resource} {N : Notice → Prop}

/-- A function that touches no handles. -/
lemma plain_within {f : NativeOp} (h : f.kind? = none) :
    (Program.perform (I := Native) f).Within (Touches kind) N :=
  .perform (.inl h)

/-- A function that touches handles of the kind. -/
lemma touching_within {f : NativeOp} (h : f.kind? = kind) :
    (Program.perform (I := Native) f).Within (Touches kind) N :=
  .perform (.inr h)

lemma render_within (renders : Bool) (word : StatusWord) :
    (render renders word).Within (Touches kind) N := by
  unfold render
  split
  · refine .bind (plain_within rfl) fun rendering => ?_
    cases rendering with
    | failed => exact .done _
    | noBuffer => exact .done _
    | buffer address bytes => exact .bind (plain_within rfl) fun _ => .done _
  · exact .done _

lemma check_within (renders : Bool) (symbol : String) (status : Option StatusWord) :
    (check renders symbol status).Within (Touches kind) N := by
  cases status with
  | none => exact .pure ()
  | some word =>
    exact .bind (.always (render_within renders word)) fun _ =>
      .bind (.always (plain_within rfl)) fun _ => .throw _

lemma obtain_within {symbol : String} {missing : BridgeError} {p : Program Native Produced}
    (hp : p.Within (Touches kind) N) :
    (obtain renders symbol missing p).Within (Touches kind) N := by
  refine .bind (.always hp) fun produced => .bind (check_within renders symbol _) fun _ => ?_
  cases produced.address with
  | none => exact .throw _
  | some address => exact .pure address

lemma attempt_within {f : NativeOp} {p : Program Native (Option StatusWord)}
    (hp : p.Within (Touches kind) N) : (attempt renders f p).Within (Touches kind) N :=
  .bind (.always hp) fun _ => check_within renders _ _

lemma registerTypes_within (inst : Nat) : (registerTypes renders inst).Within (Touches kind) N := by
  refine .bind (.always (plain_within rfl)) fun vm => ?_
  cases vm with
  | none => exact .throw _
  | some vm =>
    exact .bind (attempt_within (plain_within rfl)) fun _ => attempt_within (plain_within rfl)

lemma createInstance_within :
    (createInstance renders).Within (Touches (some .runtimeInstance)) N :=
  .bind (.always (plain_within rfl)) fun _ => .bind (.always (plain_within rfl)) fun _ =>
    .bind (obtain_within (touching_within rfl)) fun inst =>
      .bind (.onFailure (registerTypes_within inst) (touching_within rfl)) fun _ => .pure _

lemma createDevice_within (inst : Handle .runtimeInstance) (driver : String) :
    (createDevice renders inst driver).Within (Touches (some .device)) N :=
  .bind (obtain_within (touching_within rfl)) fun _ => .pure _

lemma createSession_within (inst : Handle .runtimeInstance) (device : Handle .device) :
    (createSession renders inst device).Within (Touches (some .session)) N :=
  .bind (.always (plain_within rfl)) fun _ => .bind (.always (plain_within rfl)) fun _ =>
    .bind (obtain_within (touching_within rfl)) fun _ => .pure _

lemma appendModule_within (session : Handle .session) (image : List UInt8) :
    (appendModule renders session image).Within (Touches kind) N := by
  refine .bind (.always (plain_within rfl)) fun produced => ?_
  refine .bind (.always (check_within renders _ _)) fun checked => ?_
  rcases produced with ⟨status, _ | address⟩ <;> rcases checked with e | ⟨⟩
  · exact .throw _
  · exact .throw _
  · exact .throw _
  · exact attempt_within (plain_within rfl)

lemma createList_within (capacity : Nat) :
    (createList renders capacity).Within (Touches (some .list)) N :=
  .bind (obtain_within (touching_within rfl)) fun _ => .pure _

lemma uploadView_within (session : Handle .session) (dims : List UInt64) (code : UInt32)
    (data : List UInt8) : (uploadView renders session dims code data).Within (Touches kind) N :=
  .bind (.always (plain_within rfl)) fun _ => .bind (.always (plain_within rfl)) fun _ =>
    .bind (obtain_within (plain_within rfl)) fun _ => .pure _

lemma pushView_within (list : Handle .list) (view : Handle .view) :
    (pushView renders list view).Within (Touches kind) N := by
  refine .bind (.always (plain_within rfl)) fun reference => ?_
  refine .bind (.always (plain_within rfl)) fun pushed => ?_
  rcases pushed with ⟨_ | word, _ | left⟩
  · exact check_within renders _ _
  · exact check_within renders _ _
  · exact check_within renders _ _
  · exact .bind (.always (plain_within rfl)) fun _ => check_within renders _ _

lemma readView_within (view : Handle .view) (length : Nat) :
    (readView renders view length).Within (Touches kind) N := by
  unfold readView
  split
  · exact .pure _
  · refine .bind (.always (plain_within rfl)) fun buffer => ?_
    cases buffer with
    | none => exact .throw _
    | some buffer =>
      refine .bind (.always (plain_within rfl)) fun read => ?_
      exact .bind (check_within renders _ _) fun _ => .pure _

/-- **Carrying an operation out** makes and releases no handles but those of the kind of the
operation, and gives no notice. -/
theorem perform_within (renders : Bool) (op : BackendOp) :
    (perform renders op).Within (Touches op.kind?) N := by
  cases op with
  | createInstance => exact createInstance_within
  | createDevice inst driver => exact createDevice_within inst driver
  | createSession inst device => exact createSession_within inst device
  | createList capacity => exact createList_within capacity
  | releaseInstance _ | releaseDevice _ | releaseSession _ | releaseList _ =>
    exact touching_within rfl
  | appendModule session image => exact appendModule_within session image
  | uploadView session dims code data => exact uploadView_within session dims code data
  | pushView list view => exact pushView_within list view
  | call session entry inputs outputs => exact attempt_within (plain_within rfl)
  | viewAt list index => exact .bind (plain_within rfl) fun _ => .done _
  | viewDims view =>
    exact .bind (plain_within rfl) fun _ => .bind (plain_within rfl) fun _ => .done _
  | readView view length => exact readView_within view length
  | listLength _ | viewCode _ | viewByteLength _ => exact plain_within rfl

/-! ## Watches over handles -/

section Ignores

variable {σ α : Type} {W : Watch Native σ} {s : σ}

/-- The watch takes no interest in functions that touch no handles. -/
def Ignores (W : Watch Native σ) : Prop :=
  ∀ s f, f.kind? = none → W.Allows s f ∧ ∀ reply, W.after s f reply = s

/-- A program that touches no handles. -/
lemma keeps_of_ignores (hW : Ignores W) {p : Program Native α}
    (hp : p.Within (Touches none) fun _ => True) : p.Keeps W s fun _ s' => s' = s :=
  hp.keeps fun s f hf => hW s f (hf.elim id id)

/-- The check of a status that reports a failure fails. -/
lemma check_meets_of_ignores (hW : Ignores W) {symbol : String} {word : StatusWord} :
    (check renders symbol (some word)).Meets W s (fun _ _ => False) fun _ s' => s' = s := by
  simp only [check, Action.meets_bind, Action.meets_always, Action.meets_throw]
  refine (keeps_of_ignores hW (render_within renders word)).mono ?_
  rintro _ _ rfl
  exact keeps_of_ignores hW (plain_within rfl)

/-- A function that hands something out does so if there is no status and an address. -/
lemma obtain_meets_of_ignores (hW : Ignores W) {symbol : String} {missing : BridgeError}
    {p : Program Native Produced} {ok : Nat → σ → Prop} {bad : σ → Prop}
    (hp : p.Keeps W s fun produced s' =>
      match produced with
      | ⟨none, some address⟩ => ok address s'
      | _ => bad s') :
    (obtain renders symbol missing p).Meets W s ok fun _ s' => bad s' := by
  simp only [obtain, Action.meets_bind, Action.meets_always]
  refine hp.mono ?_
  rintro ⟨_ | word, _ | address⟩ s₁ h
  · exact h
  · exact h
  · exact (check_meets_of_ignores hW).mono (fun _ _ h => h.elim) fun _ _ hsame => hsame ▸ h
  · exact (check_meets_of_ignores hW).mono (fun _ _ h => h.elim) fun _ _ hsame => hsame ▸ h

end Ignores

end Native

end TensorBridge
